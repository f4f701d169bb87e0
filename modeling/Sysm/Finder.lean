import Sysm.Lib.JavaString

namespace Sysm.Jni
open JavaString

inductive JavaException where
  | nullPointer
  | illegalArgument (message : JString)
  | stringIndexOutOfBounds
  | invalidPath
  | archLoader (message : JString)
  deriving DecidableEq

/-- An URL with what `getProtocol` and `getPath` return. The path names a file,
so it has no NUL. -/
structure Url where
  protocol : JString
  path : JString
  plain : 0 ∉ path

/-- A `Path` of the file system of Unix. The empty path has no names here. -/
structure JavaPath where
  absolute : Bool
  names : List JString
  deriving DecidableEq

namespace JavaPath

/-- `Paths.get`: slashes in a row and at the end do not count. -/
def get (path : JString) : JavaPath where
  absolute := path.head? == some 47
  names := (path.splitOn 47).filter (· != [])

/-- `Paths.get` for any string: there is no path with a NUL. -/
def parse (path : JString) : Except JavaException JavaPath :=
  if 0 ∈ path then throw .invalidPath else return get path

def getParent : JavaPath → Option JavaPath
  | ⟨_, []⟩ => none
  | ⟨absolute, [_]⟩ => if absolute then some ⟨true, []⟩ else none
  | ⟨absolute, name :: names⟩ => some ⟨absolute, (name :: names).dropLast⟩

/-- The root has no file name, and that of the empty path is empty. -/
def getFileName (path : JavaPath) : Option JString :=
  if path.names = [] then if path.absolute then none else some [] else path.names.getLast?

def resolve (path : JavaPath) (name : JString) : JavaPath := { path with names := path.names ++ [name] }

/-- `endsWith`, which only the empty path does with the empty path. -/
def endsWith (path other : JavaPath) : Bool :=
  if other.names = [] && !other.absolute then path.names = [] && !path.absolute
  else if other.absolute then path.absolute && path.names = other.names
  else decide (other.names <:+ path.names)

end JavaPath

/-- A `ClassLoader` with `getResource`. An `URLClassLoader` has URLs as well. -/
structure ClassLoader where
  getResource : JString → Option Url
  getURLs : Option (List Url)

def url2Path : Option Url → Option JavaPath
  | none => none
  | some url =>
    let urlName := url.path
    match indexOf (literal "file:") urlName with
    | some ix => some (.get (urlName.drop (ix + 5)))
    | none => some (.get urlName)

/-- Every URL has a path. -/
theorem url2Path_isSome (url : Option Url) : (url2Path url).isSome = url.isSome := by
  cases url with
  | none => rfl
  | some url =>
    rw [url2Path]
    cases indexOf (literal "file:") url.path <;> rfl

end Sysm.Jni
