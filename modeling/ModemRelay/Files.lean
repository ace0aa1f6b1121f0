import ModemRelay.Text.Quoted

/-! Reading files: what can go wrong, and directories whose files are known. -/

namespace ModemRelay

/-- Why a file could not be read. -/
inductive ReadFault where
  /-- The operating system refused, with its code, the kind of the refusal and its text. -/
  | system (code : Nat) (kind description : String)
  | nulInPath
  /-- The bytes are not the encoding of a text. -/
  | notText
  deriving DecidableEq

namespace ReadFault

def notFound : ReadFault := system 2 "NotFound" "No such file or directory"

def notADirectory : ReadFault := system 20 "NotADirectory" "Not a directory"

def isADirectory : ReadFault := system 21 "IsADirectory" "Is a directory"

/-- A name, or the whole path, is longer than the system takes. -/
def nameTooLong : ReadFault := system 36 "InvalidFilename" "File name too long"

def message : ReadFault → String
  | system code _ description => description ++ " (os error " ++ toString code ++ ")"
  | nulInPath => "file name contained an unexpected NUL byte"
  | notText => "stream did not contain valid UTF-8"

/-- A fault that the operating system knows nothing of, in full. -/
private def ownDetail (kind message : String) : String :=
  "Error \x7b kind: " ++ kind ++ ", message: " ++ Text.quote message ++ " \x7d"

/-- The fault in full, with its kind. -/
def detail : ReadFault → String
  | system code kind description =>
    "Os \x7b code: " ++ toString code ++ ", kind: " ++ kind ++ ", message: " ++
      Text.quote description ++ " \x7d"
  | nulInPath => ownDetail "InvalidInput" nulInPath.message
  | notText => ownDetail "InvalidData" notText.message

end ReadFault

/-- The text that bytes encode. -/
def decodeText (bytes : ByteArray) : Except ReadFault String :=
  match String.fromUTF8? bytes with
  | some text => .ok text
  | none => .error .notText

/-- A directory that holds just these files, by name. -/
structure Directory where
  files : List (String × ByteArray)

namespace Directory

def maxNameBytes : Nat := 255

def maxPathBytes : Nat := 4095

/-- The fault of a name that is not found where it is looked for. -/
private def missing (name : String) : ReadFault :=
  if maxNameBytes < name.utf8ByteSize then .nameTooLong else .notFound

/-- What is found outside the directory: directories on the way there, and nothing else. -/
private def outside (steps : List String) : Except ReadFault ByteArray :=
  match steps.find? (· ∉ ["", ".", ".."]) with
  | some name => .error (missing name)
  | none => .error .isADirectory

/-- Directories at the top of every system. -/
def topDirectories : List String :=
  ["bin", "dev", "etc", "home", "lib", "mnt", "opt", "proc", "sys", "tmp", "usr", "var"]

/-- What is found from the top of the system: its directories, and the null device, which reads as
an empty file. -/
private def fromTop (steps : List String) : Except ReadFault ByteArray :=
  match steps.filter (· ∉ ["", ".", ".."]) with
  | [] => .error .isADirectory
  | ["dev", "null"] => .ok .empty
  | top :: inside =>
    if top ∈ topDirectories then outside inside else .error (missing top)

/-- The bytes of the file that the steps of a path lead to. -/
private def follow (d : Directory) : List String → Except ReadFault ByteArray
  | [] => .error .isADirectory
  | step :: rest =>
    if step = "" || step = "." then
      follow d rest
    else if step = ".." then
      outside rest
    else
      match d.files.lookup step, rest with
      | some bytes, [] => .ok bytes
      | some _, _ :: _ => .error .notADirectory
      | none, _ => .error (missing step)

def read (d : Directory) (path : String) : Except ReadFault ByteArray :=
  if path.toList.contains '\x00' then
    .error .nulInPath
  else if path = "" then
    .error .notFound
  else if maxPathBytes < path.utf8ByteSize then
    .error .nameTooLong
  else if path.startsWith "/" then
    fromTop (path.splitOn "/")
  else
    d.follow (path.splitOn "/")

end Directory

end ModemRelay
