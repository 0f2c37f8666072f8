import FilterQuery.Definition.Json
import FilterQuery.Log

/-!
# Definition files

A definition is loaded from the bytes of a file, which must be UTF-8.  A success is put on record.
-/

namespace FilterQuery.Definition

/-- Why a file gives no text. -/
inductive FileFault
  | notFound
  | isDirectory
  | notUtf8
  deriving DecidableEq, Repr

/-- The fault in words. -/
def FileFault.message : FileFault → String
  | .notFound => "No such file or directory (os error 2)"
  | .isDirectory => "Is a directory (os error 21)"
  | .notUtf8 => "stream did not contain valid UTF-8"

/-- Why a file gives no definition. -/
inductive LoadFault
  | file (path : String) (fault : FileFault)
  | text (path : String) (fault : ReadFault)
  deriving DecidableEq, Repr

/-- The fault as a whole sentence. -/
def LoadFault.message : LoadFault → String
  | .file path fault => "cannot read search definition " ++ path ++ ": " ++ fault.message
  | .text path fault => "cannot parse search definition " ++ path ++ ": " ++ fault.detail

/-- The text in the bytes of a file. -/
def textOf (content : Except FileFault ByteArray) : Except FileFault String := do
  match String.fromUTF8? (← content) with
  | some text => .ok text
  | none => .error .notUtf8

/-- The definition in the file at `path`, of which `content` is what the reading gave. -/
def load (path : String) (content : Except FileFault ByteArray) :
    Logged (Except LoadFault Definition) :=
  match textOf content with
  | .error fault => ⟨.error (.file path fault), []⟩
  | .ok text =>
    match ofText text with
    | .error fault => ⟨.error (.text path fault), []⟩
    | .ok d => ⟨.ok d, [.loaded path d.fields.size]⟩

end FilterQuery.Definition
