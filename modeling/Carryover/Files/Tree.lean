/-
# Folders and files

A tree of files is known by its entries: what stands at each location.  The working folder is
always there, and so are the folders around it.

A path is followed step by step, and every step has to start in a folder.  What the system adds
is the last argument everywhere, and left out if it is plain.  The operations may fail with a
`Trouble`:

* `Tree.read` gives the bytes of a file;
* `Tree.put` makes or replaces a file in a folder that is there;
* `Tree.makeFolder` makes one folder, and `Tree.makeFolders` those around it as well;
* `Tree.filesBelow` lists the files below a folder.

A failure leaves the tree as it was, except that of `Tree.makeFolders`, which keeps the folders
it made before.  `Tree.get?_insert_self` and `Tree.get?_insert_of_ne` say all about
`Tree.insert`.
-/
import Carryover.Files.Host
import Carryover.Keyed

namespace Carryover.Files

/-! ## 1. Entries -/

/-- What stands at a location. -/
inductive Entry where
  | folder
  | file (bytes : List UInt8)
  deriving DecidableEq, Repr

/-- The folders and files around a working folder. -/
structure Tree (base : List String := defaultBase) where
  entries : Keyed (Location base) Entry
  deriving Repr

namespace Tree

variable {base : List String}

/-- The tree with nothing in it. -/
def empty : Tree base :=
  ⟨[]⟩

/-- What stands at a location. -/
def get? (t : Tree base) (l : Location base) : Option Entry :=
  if l.isAbove then some .folder else t.entries.get? l

/-- The working folder and those around it are always there. -/
theorem get?_of_isAbove (t : Tree base) {l : Location base} (hl : l.isAbove = true) :
    t.get? l = some .folder := by
  simp [get?, hl]

/-- The tree with an entry at a location, in the place of what stood there. -/
def insert (t : Tree base) (l : Location base) (e : Entry) : Tree base :=
  ⟨t.entries.put l e⟩

/-- What was inserted stands there. -/
theorem get?_insert_self (t : Tree base) {l : Location base} (hl : l.isAbove = false) (e : Entry) :
    (t.insert l e).get? l = some e := by
  simp [insert, get?, hl]

/-- **Inserting at one location changes no other.** -/
theorem get?_insert_of_ne (t : Tree base) {k l : Location base} (h : k ≠ l) (e : Entry) :
    (t.insert l e).get? k = t.get? k := by
  simp [insert, get?, h]

/-! ## 2. Following a path -/

/-- The most bytes that a name can have. -/
def longestName : Nat := 255

/-- The most bytes that a path can have. -/
def longestPath : Nat := 4095

/-- The location that steps lead to from `start`.  The last step may lead to nothing. -/
def follow (t : Tree base) (start : Location base) (steps : List Part)
    (host : Host base := .plain) : Except Trouble (Location base) :=
  match steps with
  | [] => .ok start
  | part :: rest =>
    match t.get? start with
    | none => .error .missing
    | some (.file _) => .error .notFolder
    | some .folder =>
      match part with
      | .name s =>
        if longestName < s.utf8ByteSize then .error .tooLong
        else t.follow (host.step start (.name s)) rest host
      | dots => t.follow (host.step start dots) rest host

/-- The location that a path's steps lead to, whatever the length of the path. -/
def resolve (t : Tree base) (p : Path) (steps : List Part) (host : Host base := .plain) :
    Except Trouble (Location base) :=
  if p.text = "" then .error .missing
  else t.follow (if p.isRooted then .top else .work) steps host

/-- Why a path is refused before any step is taken. -/
def refusal? (p : Path) : Option Trouble :=
  if '\x00' ∈ p.text.toList then some .holdsNul
  else if longestPath < p.text.utf8ByteSize then some .tooLong
  else none

/-- The location that a path's steps lead to. -/
def locate (t : Tree base) (p : Path) (steps : List Part) (host : Host base := .plain) :
    Except Trouble (Location base) :=
  match refusal? p with
  | some trouble => .error trouble
  | none => t.resolve p steps host

/-- The location that a path leads to, with what stands there, if the system tells. -/
def find (t : Tree base) (p : Path) (call : Call := .look) (host : Host base := .plain) :
    Except Trouble (Location base × Entry) := do
  let l ← t.locate p p.steps host
  match t.get? l, host.trouble? call p with
  | none, _ => throw .missing
  | some _, some trouble => throw trouble
  | some e, none => return (l, e)

/-- Whether a path leads to a folder. -/
def isFolder (t : Tree base) (p : Path) (host : Host base := .plain) : Bool :=
  match t.find p .look host with
  | .ok (_, .folder) => true
  | _ => false

/-- Whether a path ends in a link. -/
def endsInLink (t : Tree base) (p : Path) (host : Host base := .plain) : Bool :=
  match p.steps.getLast?, t.locate p p.steps.dropLast host with
  | some (.name s), .ok l => host.isLink (l.enter s)
  | _, _ => false

/-! ## 3. Files -/

/-- The bytes of a file. -/
def read (t : Tree base) (p : Path) (host : Host base := .plain) :
    Except Trouble (List UInt8) := do
  match ← t.find p .read host with
  | (_, .folder) => throw .isFolder
  | (_, .file bytes) => return bytes

/-- The tree with a file of these bytes, and where it stands. -/
def put (t : Tree base) (p : Path) (bytes : List UInt8) (host : Host base := .plain) :
    Except Trouble (Tree base × Location base) := do
  let l ← t.locate p p.steps host
  match t.get? l, host.trouble? .write p with
  | some .folder, _ => throw .isFolder
  | _, some trouble => throw trouble
  | _, none => return (t.insert l (.file bytes), l)

/-! ## 4. Folders -/

/-- Why no folder can be made at a path, which leads to `l`. -/
def obstacle? (t : Tree base) (p : Path) (l : Location base) (host : Host base := .plain) :
    Option Trouble :=
  if (t.get? l).isSome || t.endsInLink p host then some .occupied else host.trouble? .make p

/-- The tree with a new folder. -/
def makeFolder (t : Tree base) (p : Path) (host : Host base := .plain) :
    Except Trouble (Tree base) := do
  let l ← t.locate p p.way host
  match t.obstacle? p l host with
  | some trouble => throw trouble
  | none => return t.insert l .folder

/-- The tree with a folder that is made unless it is there. -/
def needFolder (t : Tree base) (p : Path) (host : Host base := .plain) :
    Tree base × Except Trouble Unit :=
  match t.makeFolder p host with
  | .ok t => (t, .ok ())
  | .error e => (t, if t.isFolder p host then .ok () else .error e)

/-- **The tree with the first of these folders.**  The others are those around it, the innermost
first; they are made only where the folder before cannot be made without them. -/
def makeFolders (t : Tree base) (ps : List Path) (host : Host base := .plain) :
    Tree base × Except Trouble Unit :=
  match ps with
  | [] => (t, .ok ())
  | p :: outer =>
    match t.needFolder p host with
    | (t, .error .missing) =>
      match t.makeFolders outer host with
      | (t, .ok ()) => t.needFolder p host
      | failed => failed
    | done => done

/-! ## 5. Searching a folder -/

/-- All that stands somewhere, with the working folder and those around it. -/
def listing (t : Tree base) : List (Location base × Entry) :=
  (List.range (base.length + 1)).map (fun n => (⟨base.take n⟩, .folder)) ++ t.entries

/-- The ways to the entries of a sort below a location, in the order of their names. -/
def waysBelow (t : Tree base) (isWanted : Entry → Bool) (l : Location base) :
    List (List String) :=
  let ways := t.listing.filterMap fun (k, e) => if isWanted e then l.below? k else none
  ways.mergeSort fun a b => decide (¬ b < a)

/-- The paths to the entries of a sort below the folder at a location, `p` being a path to it. -/
def pathsBelow (t : Tree base) (isWanted : Entry → Bool) (l : Location base) (p : Path) :
    List Path :=
  (t.waysBelow isWanted l).map fun way => way.foldl Path.join p

/-- Why the names in a folder cannot be listed. -/
def unlisted? (p : Path) (host : Host base := .plain) : Option Trouble :=
  (refusal? p).or (host.trouble? .list p)

/-- The files that a path leads to: the file itself, or all files below a folder, at any
depth.  Links are not followed, except to a folder that the path itself leads to.  The error says
at which path the search ended. -/
def filesBelow (t : Tree base) (p : Path) (host : Host base := .plain) :
    Except (Path × Trouble) (List Path) :=
  match t.find p .look host with
  | .error e => .error (p, e)
  | .ok (_, .file _) => .ok (if t.endsInLink p host then [] else [p])
  | .ok (l, .folder) =>
    match (t.pathsBelow (· = .folder) l p).findSome? fun d => (unlisted? d host).map (d, ·) with
    | some trouble => .error trouble
    | none => .ok (t.pathsBelow (· ≠ .folder) l p)

end Tree

end Carryover.Files
