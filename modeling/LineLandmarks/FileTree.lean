import LineLandmarks.Text.Message

/-!
# Files by name

Names of files are bytes; to be shown they are read as UTF-8, with a replacement character for
whatever is not. Opening a file for reading fails for one of the causes listed here. A file tree
answers which bytes a name leads to when it is looked up from the tree's top directory.
-/

namespace LineLandmarks

/-- The name of a file: `bytes`, with `/` between its parts. -/
structure Path where
  bytes : List UInt8
  deriving DecidableEq, Repr, Inhabited

namespace Path

/-- The name whose bytes are the text `s`. -/
def ofString (s : String) : Path := ⟨Text.bytes s⟩

/-- The name `p` as a text to show. -/
def display (p : Path) : String := Text.decodeLossy p.bytes

/-- The name `p` between double quotes. -/
def quoted (p : Path) : String := Text.quotedName p.bytes

end Path

/-- An `AccessFailure` is why the text of a file cannot be had. -/
inductive AccessFailure where
  | notFound
  | isADirectory
  | notADirectory
  | nameTooLong
  | nullInName
  | notUtf8
  /-- Any other failure, by the number and the words of the operating system. -/
  | other (code : Nat) (words : String)
  deriving DecidableEq, Repr

namespace AccessFailure

/-- The `message` of a failure, in the words of the operating system. -/
def message : AccessFailure → String
  | notFound => "No such file or directory (os error 2)"
  | isADirectory => "Is a directory (os error 21)"
  | notADirectory => "Not a directory (os error 20)"
  | nameTooLong => "File name too long (os error 36)"
  | nullInName => "file name contained an unexpected NUL byte"
  | notUtf8 => "stream did not contain valid UTF-8"
  | other code words => words ++ " (os error " ++ toString code ++ ")"

end AccessFailure

/-- The bytes that each `Path` leads to. -/
abbrev Files := Path → Except AccessFailure ByteArray

/-- A `file` with its bytes, or a `directory` with its named members. -/
inductive FileTree where
  | file (content : ByteArray)
  | directory (members : List (List UInt8 × FileTree))
  deriving Inhabited

namespace FileTree

/-- The `directory` without members. -/
def empty : FileTree := directory []

/-- The byte `/` between the parts of a name. -/
def slash : UInt8 := 0x2F

/-- The byte of the names `.` and `..`. -/
def dot : UInt8 := 0x2E

/-- The bytes between two `separator`s; two in a row have an empty part between them. -/
def splitBytes (separator : UInt8) : List UInt8 → List (List UInt8)
  | [] => [[]]
  | b :: rest =>
    if b = separator then [] :: splitBytes separator rest
    else
      match splitBytes separator rest with
      | part :: parts => (b :: part) :: parts
      | [] => [[b]]

/-- The parts of the name `p`, empty ones left out. -/
def parts (p : Path) : List (List UInt8) :=
  (splitBytes slash p.bytes).filter (!·.isEmpty)

/-- The members of a directory with `t` in the place of the member `name`, or added to them. -/
def setMember (name : List UInt8) (t : FileTree) :
    List (List UInt8 × FileTree) → List (List UInt8 × FileTree)
  | [] => [(name, t)]
  | (k, u) :: rest => if k = name then (k, t) :: rest else (k, u) :: setMember name t rest

/-- The members of a `directory`; a `file` has none. -/
def members : FileTree → List (List UInt8 × FileTree)
  | file _ => []
  | directory ms => ms

/-- Puts the tree `t` at a place, making the directories on the way. -/
def insert (t : FileTree) : List (List UInt8) → FileTree → FileTree
  | [], _ => t
  | name :: rest, old =>
    let below := (old.members.lookup name).getD empty
    directory (setMember name (insert t rest below) old.members)

/-- Where a look-up stands: `inside` a tree, with the directories above, innermost first, or in a
directory `outside` of it. -/
inductive Place where
  | inside (here : FileTree) (above : List FileTree)
  | outside

/-- A part of a name has at most `maxPartLength` bytes. -/
def maxPartLength : Nat := 255

/-- A name has fewer than `maxPathLength` bytes. -/
def maxPathLength : Nat := 4096

/-- Follows one `part` of a name from `place`. Nothing is known of what lies `outside` the tree. -/
def enter (place : Place) (part : List UInt8) : Except AccessFailure Place :=
  match place with
  | .inside (file _) _ => .error .notADirectory
  | .inside (directory ms) above =>
    if part = [dot] then .ok place
    else if part = [dot, dot] then
      match above with
      | [] => .ok .outside
      | up :: above => .ok (.inside up above)
    else if maxPartLength < part.length then .error .nameTooLong
    else
      match ms.lookup part with
      | some t => .ok (.inside t (directory ms :: above))
      | none => .error .notFound
  | .outside =>
    if part = [dot] ∨ part = [dot, dot] then .ok .outside
    else if maxPartLength < part.length then .error .nameTooLong
    else .error .notFound

/-- The bytes of the file that a name leads to in `t`. A `slash` at the end asks for a directory. -/
def read (t : FileTree) : Files := fun p =>
  if p.bytes.contains 0 then .error .nullInName
  else if p.bytes.isEmpty then .error .notFound
  else if maxPathLength ≤ p.bytes.length then .error .nameTooLong
  else do
    let start := if p.bytes.head? = some slash then Place.outside else Place.inside t []
    match ← (parts p).foldlM enter start with
    | .inside (file content) _ =>
      if p.bytes.getLast? = some slash then .error .notADirectory else .ok content
    | _ => .error .isADirectory

end FileTree

end LineLandmarks
