namespace MetricQuery

/-- Why the text of a file could not be read. -/
inductive ReadFault where
  | system (reason : String) (code : Nat)
  | notText
  | nulInName
deriving DecidableEq, Repr

namespace ReadFault

def missing : ReadFault := .system "No such file or directory" 2

def notDirectory : ReadFault := .system "Not a directory" 20

def isDirectory : ReadFault := .system "Is a directory" 21

def nameTooLong : ReadFault := .system "File name too long" 36

def message : ReadFault → String
  | .system reason code => reason ++ " (os error " ++ toString code ++ ")"
  | .notText => "stream did not contain valid UTF-8"
  | .nulInName => "file name contained an unexpected NUL byte"

end ReadFault

/-- The text that bytes stand for. -/
def textOfBytes (bytes : ByteArray) : Except ReadFault String :=
  match String.fromUTF8? bytes with
  | some text => .ok text
  | none => .error .notText

end MetricQuery
