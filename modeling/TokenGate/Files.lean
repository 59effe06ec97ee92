import TokenGate.Fault
import TokenGate.Text.Blank

/-! Files of a service, all below one directory. A path goes from there part by part; empty parts
and parts that are a single point lead nowhere else. -/

set_option autoImplicit false

namespace TokenGate

structure Directory where
  /-- How paths name the directory itself. -/
  root : List Char
  /-- Contents of the files, by their paths from the directory. -/
  files : List (List (List Char) × String)
  deriving Repr

namespace Directory

def steps (path : List Char) : List (List Char) :=
  (Text.splitAt '/' path).filter fun step => !step.isEmpty && step != ['.']

def ofFiles (root : String) (files : List (String × String)) : Directory :=
  ⟨root.toList, files.map fun f => (steps f.1.toList, f.2)⟩

def walk (d : Directory) (here : List (List Char)) : List (List Char) → Except Kind String
  | [] =>
    match d.files.lookup here with
    | some content => .ok content
    | none => .error .isDirectory
  | step :: rest =>
    if (d.files.lookup here).isSome then .error .notDirectory
    else if step = ['.', '.'] then
      if here.isEmpty then .error (if rest.isEmpty then .isDirectory else .fileNotFound)
      else walk d here.dropLast rest
    else
      let next := here ++ [step]
      if d.files.any fun f => next.isPrefixOf f.1 then walk d next rest else .error .fileNotFound

/-- Whether a path leads to a directory that every service has: the first one of all, the one it
runs in, or one above that. -/
def isSurrounding (path : List Char) : Bool := (steps path).all (· == ['.', '.'])

def read (d : Directory) (path : String) : Except Kind String :=
  let cs := path.toList
  if d.root.isPrefixOf cs then
    match cs.drop d.root.length with
    | [] => .error .isDirectory
    | '/' :: rest => d.walk [] (steps rest)
    | _ => .error .fileNotFound
  else .error (if isSurrounding cs then .isDirectory else .fileNotFound)

end Directory

end TokenGate
