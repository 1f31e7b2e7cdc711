import SignIn.Settings.Basic

/-!
# Settings files

Settings are read from the file at a path if its name ends in `.toml`, and otherwise from the file
whose name has `.toml` added. A file at the path itself that has another extension is refused.
-/

namespace SignIn

/-- The files below a folder, each with its path and its text. -/
structure Folder where
  files : List (List String × String)

namespace Folder

/-- Whether a name on a path stays in place. -/
def stays (name : String) : Bool := name == "" || name == "."

def parts (path : String) : List String := (Text.split '/' path.toList).map String.ofList

/-- The names on a path that lead on. A path from the root begins with an empty name. -/
def names (path : String) : List String :=
  let names := (parts path).filter (!stays ·)
  if path.toList.head? = some '/' then "" :: names else names

def ofTexts (files : List (String × String)) : Folder :=
  ⟨files.map fun (path, text) => (names path, text)⟩

def isFolder (folder : Folder) (path : List String) : Bool :=
  folder.files.any fun (file, _) => path.isPrefixOf file && path != file

/-- Where a path leads, read from its end backwards. A name that goes up leads out of a folder that
is there. -/
def leads? (folder : Folder) : List String → Option (List String)
  | [] => some []
  | name :: before =>
    match folder.leads? before with
    | none => none
    | some at_ =>
      if name = ".." then
        if at_ ≠ [] ∧ folder.isFolder at_ then some at_.dropLast else none
      else some (at_ ++ [name])

/-- The text of the file at a path. -/
def read? (folder : Folder) (path : List String) : Option String :=
  (folder.leads? path.reverse).bind fun path => folder.files.lookup path

end Folder

namespace Settings

/-- The file that is read where none is named. -/
def standardPath : String := "settings/dev.toml"

def extension : String := ".toml"

/-- Whether a file of this name is read as it is. -/
def isTomlName (name : String) : Bool :=
  extension.length < name.length &&
    name.toList.drop (name.length - extension.length) == extension.toList

/-- The path with the extension added to its last name. -/
def withExtension (path : List String) : Option (List String) :=
  match path.getLast? with
  | none => none
  | some name =>
    if name = "" ∨ name = ".." then none else some (path.dropLast ++ [name ++ extension])

/-- The file that a path stands for, with its text. -/
def locate (folder : Folder) (path : String) : Except SettingsError (List String × String) :=
  let names := Folder.names path
  let exact := if (Folder.parts path).getLast?.all Folder.stays then none else folder.read? names
  match exact with
  | some text =>
    if isTomlName (names.getLast?.getD "") then .ok (names, text) else .error .noFile
  | none =>
    match withExtension names with
    | none => .error .noFile
    | some path =>
      match folder.read? path with
      | some text => .ok (path, text)
      | none => .error .noFile

/-- The paths of the files that a path may stand for. -/
def candidates (path : String) : List String :=
  path :: ((withExtension (Folder.names path)).map "/".intercalate).toList

/-- Reads settings from the file that a path stands for. -/
def ofFolder (folder : Folder) (path : String) : Except SettingsError Settings := do
  let (names, text) ← locate folder path
  ofText (some ("/".intercalate names)) text

end Settings

end SignIn
