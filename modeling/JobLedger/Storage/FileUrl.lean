import JobLedger.Host.Ip
import JobLedger.Host.Name
import JobLedger.Storage.Error
import JobLedger.Text.Cut
import JobLedger.Text.Hex

/-!
# File URLs

`FileUrl.path?` gives the directory that a `file://` address leads to.

The address is read like any URL: blanks of lines are dropped, backslashes
count as slashes, the host ends at the first slash, `?` and `#` end the
path, dot segments are resolved, also when their dots are written as
`%2e`, and slashes at the front of the path become one. An empty host and
`localhost` mean this machine; any other valid host is refused.

A segment that is a drive is never dropped by one that goes up. If it is the
first one, a host in front of it has no meaning.

What is left is percent-decoded, once.
-/

namespace JobLedger.FileUrl

/-! ## Hosts -/

/-- What a host stands for. -/
inductive Host
  | local
  | other
deriving DecidableEq, Repr

/-- The bytes that a percent-encoded text stands for. A percent sign
without two hexadecimal digits stands for itself. -/
def percentDecode : List Char → Bytes
  | '%' :: a :: b :: r =>
      match (if a.isAlphanum ∧ b.isAlphanum then Hex.byte? a b else none) with
      | some x => x :: percentDecode r
      | none => Utf8.encode ['%'] ++ percentDecode (a :: b :: r)
  | c :: r => String.utf8EncodeChar c ++ percentDecode r
  | [] => []

/-- Characters that a host name must not have. -/
def forbiddenInHost (c : Char) : Bool :=
  c.toNat ≤ 0x20 || c.toNat = 0x7f
    || c ∈ ['#', '%', '/', ':', '<', '>', '?', '@', '[', '\\', ']', '^', '|']

/-- What a host stands for; `none` if it is no valid host. -/
def host? (cs : List Char) : Option Host :=
  match cs with
  | [] => some .local
  | '[' :: r =>
      if r.getLast? = some ']' ∧ Ip.isIpv6 r.dropLast = true then some .other else none
  | cs => do
      let text ← (Utf8.decode (percentDecode cs)).toOption
      let name ← HostName.read? text.toList
      if name = [] ∨ name.any forbiddenInHost then none
      else if Ip.endsInNumber name then if Ip.isIpv4 name then some .other else none
      else if name = ['l', 'o', 'c', 'a', 'l', 'h', 'o', 's', 't'] then some .local
      else some .other

/-! ## Paths -/

def isSlash (c : Char) : Bool := c = '/' || c = '\\'

/-- Characters that are dropped wherever they stand. -/
def isDropped (c : Char) : Bool := c = '\t' || c = '\n' || c = '\r'

/-- A text without the characters that are dropped. -/
def kept (cs : List Char) : List Char := cs.filter fun c => !isDropped c

/-- A letter and a colon or bar. -/
def isDrive : List Char → Bool
  | [a, b] => a.isAlpha && (b = ':' || b = '|')
  | _ => false

/-- The spellings of the segment that goes up. -/
def isUp (segment : List Char) : Bool :=
  String.ofList (segment.map Char.toLower) ∈ ["..", "%2e%2e", "%2e.", ".%2e"]

/-- The spellings of the segment that stays. -/
def isStay (segment : List Char) : Bool :=
  String.ofList (segment.map Char.toLower) ∈ [".", "%2e"]

/-- Segments of a path, the last one first. -/
abbrev Segments := List (List Char)

/-- Drops the last segment, but never a drive. -/
def up : Segments → Segments
  | [] => []
  | s :: r => if isDrive s then s :: r else r

/-- A path while it is read: the segments behind the leading slash so far,
and whether they are those of another machine. -/
structure Route where
  segments : Segments
  isForeign : Bool
deriving DecidableEq, Repr

/-- Cuts a segment into a letter with a colon and what follows, if dropped
characters are all that is between them. -/
def cutBehindDrive (segment : List Char) : Option (List Char × List Char) :=
  match segment.dropWhile isDropped with
  | [] => none
  | a :: r =>
      match r.dropWhile isDropped with
      | ':' :: c :: r =>
          if a.isAlpha ∧ isDropped c = true ∧ kept r ≠ [] then some ([a, ':'], kept r) else none
      | _ => none

/-- Appends the first segment. A drive belongs to this machine, and is then
written with a colon. A line end behind it counts as a slash. -/
def Route.first (p : Route) (segment : List Char) : Route :=
  match cutBehindDrive segment with
  | some (drive, rest) => { p with segments := [rest, drive] }
  | none =>
      let s := kept segment
      if p.isForeign && isDrive s then ⟨[s.take 1 ++ [':']], false⟩
      else { p with segments := [s] }

/-- Appends one segment. `closed` tells that a slash follows it; a path
that ends in a dot segment ends in a slash. -/
def Route.step (p : Route) (segment : List Char) (closed : Bool) : Route :=
  let slash : Segments := if closed then [] else [[]]
  if isUp (kept segment) then { p with segments := slash ++ up p.segments }
  else if isStay (kept segment) then { p with segments := slash ++ p.segments }
  else if p.segments = [] then p.first segment
  else { p with segments := kept segment :: p.segments }

/-- Reads segments in order. -/
def Route.follow (p : Route) : List (List Char) → Route
  | [] => p
  | [s] => p.step s false
  | s :: r => (p.step s true).follow r

def dropEmpty : List (List Char) → List (List Char)
  | [] :: s :: r => dropEmpty (s :: r)
  | ss => ss

/-- The segments of a path behind its leading slash, as they are written. -/
def written (path : List Char) : List (List Char) :=
  match pieces '/' (path.map fun c => if c = '\\' then '/' else c) with
  | s :: r => if kept s = [] then r else s :: r
  | [] => []

def Route.text (p : Route) : List Char :=
  '/' :: joinPieces '/' (dropEmpty p.segments.reverse)

/-- A path that ends like a drive gets a slash. -/
def closeDrive (bs : Bytes) : Bytes :=
  match bs.reverse with
  | b :: a :: _ :: _ =>
      if (Char.ofNat a.toNat).isAlpha ∧ (b = 0x3a ∨ b = 0x7c) then bs ++ [0x2f] else bs
  | _ => bs

/-- Characters that a URL never has at its ends. -/
def isEdge (c : Char) : Bool := c.toNat ≤ 0x20

/-- What follows a text at the start of another one, in which dropped
characters do not count. -/
def behind? : List Char → List Char → Option (List Char)
  | [], cs => some cs
  | t :: ts, cs =>
      match cs.dropWhile isDropped with
      | c :: r => if c = t then behind? ts r else none
      | [] => none

/-- The directory that a `file://` address leads to. -/
def path? (uri : String) : Except FileUrlFault String :=
  let cs := uri.toList.dropWhile isEdge
  let cs := (cs.reverse.dropWhile isEdge).reverse
  match behind? "file://".toList cs with
  | none => .error .malformed
  | some rest =>
      let rest := rest.takeWhile fun c => c ≠ '?' && c ≠ '#'
      let front := rest.takeWhile fun c => !isSlash c
      let (hostText, path) :=
        if isDrive (kept front) then ([], rest) else (kept front, rest.drop front.length)
      match host? hostText with
      | none => .error .malformed
      | some host =>
          let route := Route.follow ⟨[], host = .other⟩ (written path)
          if route.isForeign then .error .notLocal
          else .ok (.ofList (Utf8.decodeWith [Char.ofNat 0xFFFD]
            (closeDrive (percentDecode route.text))))

example : path? "file:///a/./b/../c%20d?e" = .ok "/a/c d" := by cbv
example : host? "LocalHost".toList = some .local := by decide +kernel
example : host? "a%20b".toList = none := by decide +kernel
example : (path? "file://host/a").toOption = none := by decide +kernel
example : (path? "file://host/c|/a").toOption = some "/c:/a" := by decide +kernel

end JobLedger.FileUrl
