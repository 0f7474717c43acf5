import MetricQuery.File.Fault
import MetricQuery.File.Path

namespace MetricQuery

/-- The files below the current directory, each under the names that lead to it. Outside of the
current directory there are only directories without any files. -/
structure FileTree where
  files : List (List String × ByteArray)

/-- Where a path has led so far. -/
inductive Spot where
  | inside (names : List String)
  | outside (distance : Nat)
  | file (bytes : ByteArray)

namespace FileTree

def ofList (files : List (String × ByteArray)) : FileTree :=
  ⟨files.map fun (path, bytes) =>
    ((pathSteps path).filter fun step => step ≠ "" ∧ step ≠ ".", bytes)⟩

/-- A name takes at most 255 bytes, whether there is a file of that name or not. -/
def checkName (name : String) : Except ReadFault Unit :=
  if 255 < name.utf8ByteSize then .error .nameTooLong else .ok ()

def child (tree : FileTree) (names : List String) : Except ReadFault Spot :=
  match (tree.files.filter fun (path, _) => path = names).getLast? with
  | some (_, bytes) => .ok (.file bytes)
  | none =>
    if tree.files.any fun (path, _) => names.isPrefixOf path then .ok (.inside names)
    else .error .missing

def step (tree : FileTree) (spot : Spot) (name : String) : Except ReadFault Spot :=
  match spot with
  | .file _ => .error .notDirectory
  | .inside names =>
    if name = "" ∨ name = "." then .ok spot
    else if name = ".." then
      if names.isEmpty then .ok (.outside 1) else .ok (.inside names.dropLast)
    else do
      checkName name
      tree.child (names ++ [name])
  | .outside distance =>
    if name = "" ∨ name = "." then .ok spot
    else if name = ".." then .ok (.outside (distance + 1))
    else do
      checkName name
      .error .missing

def walk (tree : FileTree) (spot : Spot) : List String → Except ReadFault Spot
  | [] => .ok spot
  | name :: rest => do
    let next ← tree.step spot name
    tree.walk next rest

/-- The bytes of the file that a path leads to. A path takes fewer than 4096 bytes. -/
def read (tree : FileTree) (path : String) : Except ReadFault ByteArray := do
  if path.toList.contains '\x00' then .error .nulInName
  else if path = "" then .error .missing
  else if 4096 ≤ path.utf8ByteSize then .error .nameTooLong
  else
    match ← tree.walk (if path.toList.head? = some '/' then .outside 1 else .inside [])
        (pathSteps path) with
    | .file bytes => .ok bytes
    | _ => .error .isDirectory

end FileTree

end MetricQuery
