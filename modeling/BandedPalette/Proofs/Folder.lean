import BandedPalette.Folder
import BandedPalette.Proofs.Text.Layout
namespace BandedPalette.Folder

theorem lookup_insert (folder : Folder) (name other : String) (content : ByteArray) :
    (folder.insert name content).lookup other =
      if other = name then some content else folder.lookup other :=
  lookup_put name other content folder.files

structure FileName (name : String) : Prop where
  nonempty : name.toList ≠ []
  unslashed : '/' ∉ name.toList
  printable : '\x00' ∉ name.toList
  notHere : name ≠ "."
  notAbove : name ≠ ".."
  short : Text.octets name.toList ≤ longestName

theorem FileName.pathNames {name : String} (named : FileName name) :
    pathNames name.toList = [name] := by
  rw [BandedPalette.pathNames, Text.pieces_of_not_mem named.unslashed]
  simp [named.nonempty]

theorem FileName.resolve {name : String} (named : FileName name) (folder : Folder) :
    folder.resolve name = .ok (.entry .inside name false) := by
  have short := named.short
  have fits : ¬ longestPath < Text.octets name.toList := by
    simp only [longestName, longestPath] at short ⊢
    omega
  have relative : name.toList.head? ≠ some '/' := fun front =>
    named.unslashed (List.mem_of_mem_head? front)
  have unslashed : name.toList.getLast? ≠ some '/' := fun last =>
    named.unslashed (List.mem_of_mem_getLast? last)
  simp [Folder.resolve, named.printable, fits, named.nonempty, relative, unslashed,
    named.pathNames, follow, named.notHere, named.notAbove]

theorem FileName.write {name : String} (named : FileName name) (folder : Folder)
    (text : String) : folder.write name text = .ok (folder.insert name text.toUTF8) := by
  have short : checkName name = .ok () := by
    rw [checkName, if_neg (Nat.not_lt.mpr named.short)]
  simp only [Folder.write, named.resolve folder, short, bind, Except.bind]

theorem fromUTF8?_toUTF8 (text : String) : String.fromUTF8? text.toUTF8 = some text := by
  rw [String.fromUTF8?, String.toUTF8_eq_toByteArray, dif_pos text.isValidUTF8]
  rfl

/-- A text stored under the name that a path leads to is read back. -/
theorem read_of_lookup {folder : Folder} {path name text : String}
    (resolved : folder.resolve path = .ok (.entry .inside name false))
    (short : checkName name = .ok ()) (stored : folder.lookup name = some text.toUTF8) :
    folder.read path = .ok text := by
  have found : folder.find .inside name = .ok text.toUTF8 := by
    rw [find, short, stored]
    rfl
  simp only [read, resolved, found, bind, Except.bind, fromUTF8?_toUTF8]
  rfl

/-- Files are told apart by name, and only the content of one of them differs. -/
structure DifferAt (name : String) (left right : Folder) : Prop where
  presentLeft : ∃ content, left.lookup name = some content
  presentRight : ∃ content, right.lookup name = some content
  others : ∀ other, other ≠ name → left.lookup other = right.lookup other

section Differing

variable {name path : String} {left right : Folder}

theorem DifferAt.find_eq (differ : DifferAt name left right) {place : Place} {other : String}
    (apart : place = .inside → other ≠ name) : left.find place other = right.find place other := by
  unfold Folder.find
  cases place with
  | outside => rfl
  | inside => rw [differ.others other (apart rfl)]

theorem DifferAt.find (differ : DifferAt name left right) (place : Place) (other : String) :
    left.find place other = right.find place other ∨
      (∃ content, left.find place other = .ok content) ∧
        ∃ content, right.find place other = .ok content := by
  by_cases here : place = .inside ∧ other = name
  · obtain ⟨first, storedLeft⟩ := differ.presentLeft
    obtain ⟨second, storedRight⟩ := differ.presentRight
    rw [here.1, here.2]
    unfold Folder.find
    rw [storedLeft, storedRight]
    cases checkName name with
    | error fault => exact .inl rfl
    | ok _ => exact .inr ⟨⟨first, rfl⟩, second, rfl⟩
  · exact .inl (differ.find_eq fun inside same => here ⟨inside, same⟩)

theorem DifferAt.follow (differ : DifferAt name left right) (slashed : Bool) (place : Place)
    (names : List String) : left.follow slashed place names = right.follow slashed place names := by
  induction names generalizing place with
  | nil => rfl
  | cons first further ih =>
      rw [Folder.follow, Folder.follow, ih, ih]
      rcases differ.find place first with same | ⟨⟨_, foundLeft⟩, _, foundRight⟩
      · rw [same]
      · rw [foundLeft, foundRight]

theorem DifferAt.resolve (differ : DifferAt name left right) (path : String) :
    left.resolve path = right.resolve path := by
  simp only [Folder.resolve, differ.follow]

/-- A path is read alike in both unless it leads to the file that differs. -/
theorem DifferAt.read (differ : DifferAt name left right)
    (apart : left.resolve path ≠ .ok (.entry .inside name false)) :
    left.read path = right.read path := by
  unfold Folder.read
  rw [← differ.resolve path]
  cases led : left.resolve path with
  | error fault => rfl
  | ok target =>
      cases target with
      | directory => rfl
      | entry place other slashed =>
          cases slashed with
          | true =>
              rcases differ.find place other with same | ⟨⟨_, foundLeft⟩, _, foundRight⟩
              · simp only [bind, Except.bind, same]
              · simp only [foundLeft, foundRight, bind, Except.bind, if_pos]
          | false =>
              have elsewhere : place = .inside → other ≠ name := by
                intro inside same
                exact apart (by rw [led, inside, same])
              simp only [bind, Except.bind, differ.find_eq elsewhere]

def insertAll (folder : Folder) (files : List (String × String)) : Folder :=
  files.foldl (fun folder file => folder.insert file.1 file.2.toUTF8) folder

theorem insertAll_append (folder : Folder) (files more : List (String × String)) :
    folder.insertAll (files ++ more) = (folder.insertAll files).insertAll more :=
  List.foldl_append

theorem DifferAt.insert (differ : DifferAt name left right) (other : String)
    (content : ByteArray) :
    DifferAt name (left.insert other content) (right.insert other content) where
  presentLeft := by
    rw [lookup_insert]
    split
    · exact ⟨content, rfl⟩
    · exact differ.presentLeft
  presentRight := by
    rw [lookup_insert]
    split
    · exact ⟨content, rfl⟩
    · exact differ.presentRight
  others := by
    intro file apart
    rw [lookup_insert, lookup_insert, differ.others file apart]

theorem DifferAt.insertAll (differ : DifferAt name left right) (files : List (String × String)) :
    DifferAt name (left.insertAll files) (right.insertAll files) := by
  induction files generalizing left right with
  | nil => exact differ
  | cons file rest ih => exact ih (differ.insert file.1 file.2.toUTF8)

/-- A text is written alike in both, if it is not refused in both. -/
theorem DifferAt.write (differ : DifferAt name left right) (path text : String) :
    (∃ fault, left.write path text = .error fault ∧ right.write path text = .error fault) ∨
      ∃ files, left.write path text = .ok (left.insertAll files) ∧
        right.write path text = .ok (right.insertAll files) := by
  unfold Folder.write
  rw [← differ.resolve path]
  cases left.resolve path with
  | error fault => exact .inl ⟨fault, rfl, rfl⟩
  | ok target =>
      cases target with
      | directory => exact .inl ⟨.isDirectory, rfl, rfl⟩
      | entry place other slashed =>
          cases slashed with
          | true => exact .inl ⟨.isDirectory, rfl, rfl⟩
          | false =>
              simp only [bind, Except.bind]
              cases checkName other with
              | error fault => exact .inl ⟨fault, rfl, rfl⟩
              | ok _ =>
                  cases place with
                  | outside => exact .inr ⟨[], rfl, rfl⟩
                  | inside => exact .inr ⟨[(other, text)], rfl, rfl⟩

/-- Where a path leads does not depend on the files. -/
theorem follow_eq_ok {folder other : Folder} {slashed : Bool} {place : Place}
    {names : List String} {target : Target}
    (followed : folder.follow slashed place names = .ok target) :
    other.follow slashed place names = .ok target := by
  induction names generalizing place with
  | nil => exact followed
  | cons first further ih =>
      rw [Folder.follow] at followed ⊢
      split
      case isTrue here =>
        rw [if_pos here] at followed
        exact ih followed
      case isFalse elsewhere =>
        rw [if_neg elsewhere] at followed
        split
        case isTrue above =>
          rw [if_pos above] at followed
          exact ih followed
        case isFalse within =>
          rw [if_neg within] at followed
          split
          case isTrue last => rwa [if_pos last] at followed
          case isFalse inner =>
            -- A name with more names after it leads nowhere, whether it is there or not.
            rw [if_neg inner] at followed
            cases found : folder.find place first <;> simp [found] at followed

theorem resolve_eq_ok {folder : Folder} {target : Target} (other : Folder)
    (resolved : folder.resolve path = .ok target) : other.resolve path = .ok target := by
  unfold Folder.resolve at resolved ⊢
  simp only at resolved ⊢
  split at resolved
  case isTrue => cases resolved
  case isFalse printable =>
    split at resolved
    case isTrue => cases resolved
    case isFalse short =>
      split at resolved
      case isTrue => cases resolved
      case isFalse filled =>
        rw [if_neg printable, if_neg short, if_neg filled]
        exact follow_eq_ok resolved

end Differing

end BandedPalette.Folder
