import DbAccess.Sqlite.Options
/-!
# Where a database lives

A path may be a `file:` address. Behind the scheme may stand an authority, which has to be this machine, and
then stands the name of the file, with escaped octets and perhaps a fragment.
-/

namespace DbAccess.Sqlite

/-- Where a database lives. -/
inductive Location where
  /-- In memory, for as long as it is open. -/
  | memory
  /-- In a file of this machine. -/
  | file
  /-- On the machine of this name. -/
  | elsewhere (authority : String)
deriving DecidableEq, Repr

namespace Location

/-- The name that an address spells, octet by octet. An escaped null character ends the name, and so does the
start of a fragment. -/
def unescape : List Char → List Char
  | [] => []
  | c :: rest =>
    if c = '#' then []
    else if c = '%' then
      match rest with
      | a :: b :: rest =>
        match Text.hexDigit? a, Text.hexDigit? b with
        | some high, some low =>
          if high = 0 ∧ low = 0 then [] else Char.ofNat (16 * high + low) :: unescape rest
        | _, _ => c :: unescape (a :: b :: rest)
      | rest => c :: unescape rest
    else c :: unescape rest

/-- The location of a name; without a name nothing outlives the connection. -/
def ofName (name : List Char) : Location :=
  if name.isEmpty || name = memoryPath.toList then .memory else .file

/-- The location of an address, without its scheme. -/
def ofAddress : List Char → Location
  | '/' :: '/' :: rest =>
    let authority := String.ofList (rest.takeWhile (· != '/'))
    if authority = "" || authority = "localhost" then ofName (unescape (rest.dropWhile (· != '/')))
    else .elsewhere authority
  | rest => ofName (unescape rest)

/-- The scheme of addresses. -/
def scheme : List Char := "file:".toList

/-- The location of a path. -/
def ofPath (path : String) : Location :=
  let chars := path.toList
  if scheme.isPrefixOf chars then ofAddress (chars.drop scheme.length) else ofName chars

end Location

end DbAccess.Sqlite
