import BandedPalette.Text.Lines
import BandedPalette.Text.Octets
namespace BandedPalette

/-! A working directory that holds plain files only.

Paths are followed name by name, as a file system follows them: blank and `.`
parts change nothing, `..` leads out of the directory, and no path leads through
a file or a name that is not there.  Nothing is known of what lies outside: no
file is found there, and what is written there is not seen from here.
-/

inductive FileFault where
  | notFound
  | isDirectory
  | notDirectory
  | nameTooLong
  | badName
  | notText
  | other (message : String)
deriving DecidableEq, Repr

def FileFault.message : FileFault → String
  | .notFound => "No such file or directory (os error 2)"
  | .isDirectory => "Is a directory (os error 21)"
  | .notDirectory => "Not a directory (os error 20)"
  | .nameTooLong => "File name too long (os error 36)"
  | .badName => "file name contained an unexpected NUL byte"
  | .notText => "stream did not contain valid UTF-8"
  | .other message => message

inductive Place where
  | inside
  | outside
deriving DecidableEq, Repr

/-- What a path leads to: a directory, or a name in a place.  A slash after the
name asks for a directory. -/
inductive Target where
  | directory
  | entry (place : Place) (name : String) (slashed : Bool)
deriving DecidableEq, Repr

def longestName : Nat := 255

def longestPath : Nat := 4095

def pathNames (path : List Char) : List String :=
  ((Text.pieces '/' path).filter (· ≠ [])).map String.ofList

def checkName (name : String) : Except FileFault Unit :=
  if longestName < Text.octets name.toList then .error .nameTooLong else .ok ()

structure Folder where
  files : List (String × ByteArray)

namespace Folder

def lookup (folder : Folder) (name : String) : Option ByteArray :=
  folder.files.lookup name

def put (name : String) (content : ByteArray) :
    List (String × ByteArray) → List (String × ByteArray)
  | [] => [(name, content)]
  | (other, kept) :: rest =>
      if other = name then (name, content) :: rest else (other, kept) :: put name content rest

def insert (folder : Folder) (name : String) (content : ByteArray) : Folder :=
  ⟨put name content folder.files⟩

def find (folder : Folder) (place : Place) (name : String) : Except FileFault ByteArray := do
  checkName name
  match place with
  | .outside => .error .notFound
  | .inside => (folder.lookup name).elim (.error .notFound) .ok

def follow (folder : Folder) (slashed : Bool) : Place → List String → Except FileFault Target
  | _, [] => .ok .directory
  | place, name :: further =>
      if name = "." then folder.follow slashed place further
      else if name = ".." then folder.follow slashed .outside further
      else if further = [] then .ok (.entry place name slashed)
      else
        match folder.find place name with
        | .error fault => .error fault
        | .ok _ => .error .notDirectory

/-- Follows a path.  Its form is looked at before any name on it. -/
def resolve (folder : Folder) (path : String) : Except FileFault Target :=
  let text := path.toList
  if '\x00' ∈ text then .error .badName
  else if longestPath < Text.octets text then .error .nameTooLong
  else if text = [] then .error .notFound
  else
    let start := if text.head? = some '/' then Place.outside else Place.inside
    folder.follow (text.getLast? = some '/') start (pathNames text)

def read (folder : Folder) (path : String) : Except FileFault String := do
  match ← folder.resolve path with
  | .directory => .error .isDirectory
  | .entry place name slashed =>
      let content ← folder.find place name
      if slashed then .error .notDirectory
      else (String.fromUTF8? content).elim (.error .notText) .ok

/-- Replaces or creates a file with a text.  A name with a slash after it is
refused whether it is there or not. -/
def write (folder : Folder) (path : String) (text : String) : Except FileFault Folder := do
  match ← folder.resolve path with
  | .directory => .error .isDirectory
  | .entry _ _ true => .error .isDirectory
  | .entry place name false =>
      checkName name
      match place with
      | .outside => .ok folder
      | .inside => .ok (folder.insert name text.toUTF8)

theorem lookup_put (name other : String) (content : ByteArray)
    (files : List (String × ByteArray)) :
    (put name content files).lookup other =
      if other = name then some content else files.lookup other := by
  induction files with
  | nil =>
      by_cases same : other = name
      · simp [put, same]
      · simp [put, same, List.lookup_cons, beq_eq_false_iff_ne.mpr same]
  | cons file rest ih =>
      obtain ⟨first, kept⟩ := file
      by_cases found : first = name
      · by_cases same : other = name
        · simp [put, found, same]
        · simp [put, found, same, List.lookup_cons, beq_eq_false_iff_ne.mpr same]
      · by_cases here : other = first
        · have different : ¬ other = name := fun same => found (here.symm.trans same)
          simp [put, found, here]
        · simp [put, found, List.lookup_cons, beq_eq_false_iff_ne.mpr here, ih]

end Folder

end BandedPalette
