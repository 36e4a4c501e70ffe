import DifferentialDrive.FileFault

/-!
# Directories

The files a program finds when it opens a path: those of its own directory by their names, in
which a slash leads to a directory within it, and besides them only the devices, directories and
files that every machine has. The own directory is one of those for temporary files.
-/

namespace DifferentialDrive

/-- The first stretch of letters without bytes. Halves that stand for single bytes have one. -/
def unwritable? (place : Nat) : Text.Letters → Option FileFault
  | [] => none
  | l :: rest =>
    match l with
    | .half n =>
      if 0xdc80 ≤ n && n ≤ 0xdcff then unwritable? (place + 1) rest
      else some (.unwritable l place (1 + (rest.takeWhile Text.Letter.isHalf).length))
    | .char _ => unwritable? (place + 1) rest

/-- Opens a file by a path of letters. No file has a name with halves in it. -/
def openPath {β : Type} (files : String → Except FileFault β) (path : Text.Letters) :
    Except FileFault β :=
  match unwritable? 0 path with
  | some f => .error f
  | none => if path.any Text.Letter.isHalf then .error .missing else files (path.toString)

/-- The directory that a path stands in, as far as it is named. -/
def directoryOf (path : String) : String :=
  let names := path.splitOn "/"
  if names.length ≤ 1 then "." else "/".intercalate names.dropLast ++ "/"

/-- Whether a file can be written at a path: one that is there, or a new one in a directory. -/
def checkWritable {β : Type} (files : String → Except FileFault β) (path : String) :
    Except FileFault Unit :=
  match files path with
  | .ok _ => .ok ()
  | .error .missing =>
    if path.isEmpty then .error .missing
    else
      match files (directoryOf path) with
      | .error .aDirectory => if path.endsWith "/" then .error .aDirectory else .ok ()
      | .error f => .error f
      | .ok _ => .error .notADirectory
  | .error f => .error f

/-- Files by name. -/
abbrev Directory := List (String × String)

namespace Directory

/-- Where a path has led to. -/
inductive Place where
  /-- Within the own directory, behind names that are part of those of its files. -/
  | within (stem : String)
  /-- A directory of the machine, by the names that lead there. -/
  | machine (names : List String)
  | file (text : String)

/-- The directories that every machine has, by the names that lead there. -/
def common : List (List String) :=
  [["boot"], ["dev"], ["dev", "fd"], ["dev", "mqueue"], ["dev", "pts"], ["dev", "shm"], ["etc"],
    ["home"], ["media"], ["mnt"], ["opt"], ["proc"], ["root"], ["run"], ["srv"], ["sys"], ["tmp"],
    ["usr"], ["usr", "bin"], ["usr", "include"], ["usr", "lib"], ["usr", "lib64"],
    ["usr", "local"], ["usr", "local", "bin"], ["usr", "local", "lib"], ["usr", "sbin"],
    ["usr", "share"], ["var"], ["var", "lib"], ["var", "log"], ["var", "tmp"]]

/-- Directories at the root that are other names of some under `usr`. -/
def shared : List String := ["bin", "lib", "lib64", "sbin"]

/-- The text of the files that every machine has. Two of the devices hold nothing but NUL, and that
of a terminal is there without one. -/
def machineFile : List String → Except FileFault String
  | ["dev", "null"] => .ok ""
  | ["dev", "zero"] | ["dev", "full"] => .ok "\x00"
  | ["dev", "tty"] => .error .noDevice
  | ["etc", "passwd"] | ["etc", "group"] | ["etc", "hosts"] | ["etc", "hostname"] => .ok ""
  | _ => .error .missing

/-- The most bytes of one name, and the bound of a whole path. -/
def longestName : Nat := 255
def pathBound : Nat := 4096

/-- The directory around the one behind some names. -/
def parent (stem : String) : Place :=
  match ((stem.splitOn "/").dropLast).dropLast with
  | [] => if stem.isEmpty then .machine ["tmp"] else .within ""
  | names => .within (String.join (names.map (· ++ "/")))

def enterMachine (names : List String) (name : String) : Except FileFault Place :=
  if name == ".." then .ok (.machine names.dropLast)
  else if names.isEmpty && shared.contains name then .ok (.machine ["usr", name])
  else
    let names := names ++ [name]
    if common.contains names then .ok (.machine names)
    else (machineFile names).map .file

def enter (d : Directory) (place : Place) (name : String) : Except FileFault Place :=
  match place with
  | .file _ => .error .notADirectory
  | place =>
    if name == "" || name == "." then .ok place
    else if longestName < name.utf8ByteSize then .error .nameTooLong
    else
      match place with
      | .machine names => enterMachine names name
      | .within stem =>
        if name == ".." then .ok (parent stem)
        else
          match d.lookup (stem ++ name) with
          | some text => .ok (.file text)
          | none =>
            let stem := stem ++ name ++ "/"
            if d.any fun f => f.1.startsWith stem then .ok (.within stem) else .error .missing
      | .file _ => .error .notADirectory

/-- The text of the file at a path. -/
def read (d : Directory) (path : String) : Except FileFault String :=
  if path.contains '\x00' then .error .nul
  else if path.isEmpty then .error .missing
  else if pathBound ≤ path.utf8ByteSize then .error .nameTooLong
  else do
    let start : Place := if path.startsWith "/" then .machine [] else .within ""
    match ← (path.splitOn "/").foldlM (enter d) start with
    | .file text => return text
    | _ => .error .aDirectory

example : read [("a", "text")] "./a" = .ok "text" := by
  cbv

end Directory

end DifferentialDrive
