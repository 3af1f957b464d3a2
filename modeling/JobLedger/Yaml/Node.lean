import JobLedger.Yaml.Layout

/-!
# YAML nodes

A `Node` is a scalar, a list, a mapping, or an alias for another node.
`Node.document?` reads tokens as a single document; whatever stands in
front of it or behind it has to be directives and document marks.

Between the tokens of a mapping or a list a node may be missing: it is an
empty plain scalar then. Block collections and bracketed ones have a
grammar each, and a bracketed list may hold a single member of a mapping
without braces of its own.
-/

namespace JobLedger.Yaml

structure Scalar where
  /-- The full tag, if one is written. -/
  tag : Option Bytes
  style : ScalarStyle
  text : String
deriving DecidableEq, Repr

/-- A node. The number is that of its anchor. -/
inductive Node
  | scalar (anchor : Option Nat) (content : Scalar)
  | list (anchor : Option Nat) (items : List Node)
  | mapping (anchor : Option Nat) (members : List (Node × Node))
  | alias (number : Nat)
deriving Repr, Inhabited

namespace Node

/-- The node that is not written. -/
def missing : Node := .scalar none ⟨none, .plain, ""⟩

/-- What may stand in front of a node. -/
structure Properties where
  anchor : Option Nat
  tag : Option Bytes

/-- The meaning of tag handles. -/
abbrev Handles := List (String × Bytes)

/-- The handles that need no directive. -/
def Handles.standard : Handles :=
  [("!", Utf8.bytes "!"), ("!!", Utf8.bytes "tag:yaml.org,2002:")]

def fullTag? (handles : Handles) (handle : String) (ending : Bytes) : Option Bytes :=
  if handle = "" then some ending else (handles.lookup handle).map (· ++ ending)

/-- An anchor and a tag in either order; each may be missing. -/
def properties? (handles : Handles) : List Token → Option (Properties × List Token)
  | .anchor n :: .tag h e :: ts => (fullTag? handles h e).map fun t => (⟨some n, some t⟩, ts)
  | .tag h e :: .anchor n :: ts => (fullTag? handles h e).map fun t => (⟨some n, some t⟩, ts)
  | .anchor n :: ts => some (⟨some n, none⟩, ts)
  | .tag h e :: ts => (fullTag? handles h e).map fun t => (⟨none, some t⟩, ts)
  | ts => some (⟨none, none⟩, ts)

/-- Where a node stands. -/
inductive Place
  | bracketed
  | block
  /-- In a block, where a list may start without being indented. -/
  | member
deriving DecidableEq, Repr

/-- A node of which only the properties are written. -/
def absent? (p : Properties) (ts : List Token) : Option (Node × List Token) :=
  if p.anchor.isNone && p.tag.isNone then none
  else some (.scalar p.anchor ⟨p.tag, .plain, ""⟩, ts)

/-- One of the given tokens is next. -/
def nextIn (stops : List Token) (ts : List Token) : Bool := ts.head?.any (· ∈ stops)

/-- What may stand behind a dash without item. -/
def afterDash (indented : Bool) : List Token :=
  if indented then [.dash, .blockEnd] else [.dash, .key, .value, .blockEnd]

/-- What may stand in a block mapping in place of a key or value. -/
def blockStops : List Token := [.key, .value, .blockEnd]

/-- Drops the comma in front of all but the first item of a bracketed
collection. -/
def behindComma? (first : Bool) (ts : List Token) : Option (List Token) :=
  if first then some ts
  else match ts with
    | .comma :: ts => some ts
    | _ => none

mutual

/-- A node. The number bounds the nesting and the number of items on the
way, in all of these readers. -/
def read? (handles : Handles) (place : Place) : Nat → List Token → Option (Node × List Token)
  | 0, _ => none
  | _, .alias n :: ts => some (.alias n, ts)
  | fuel + 1, ts => do
      let (p, ts) ← properties? handles ts
      match ts with
      | .scalar style text :: ts => return (.scalar p.anchor ⟨p.tag, style, text⟩, ts)
      | .openBracket :: ts =>
          let (items, ts) ← items? handles true fuel ts
          return (.list p.anchor items, ts)
      | .openBrace :: ts =>
          let (members, ts) ← members? handles true fuel ts
          return (.mapping p.anchor members, ts)
      | .dash :: _ =>
          if place ≠ .member then absent? p ts
          else
            let (items, ts) ← dashes? handles false fuel ts
            return (.list p.anchor items, ts)
      | .blockSequence :: inner =>
          if place = .bracketed then absent? p ts
          else
            let (items, ts) ← dashes? handles true fuel inner
            return (.list p.anchor items, ts)
      | .blockMapping :: inner =>
          if place = .bracketed then absent? p ts
          else
            let (members, ts) ← blockMembers? handles fuel inner
            return (.mapping p.anchor members, ts)
      | _ => absent? p ts

/-- The items of a block list. A list that is not indented ends where no
dash follows. -/
def dashes? (handles : Handles) (indented : Bool) :
    Nat → List Token → Option (List Node × List Token)
  | 0, _ => none
  | fuel + 1, .dash :: ts => do
      let (item, ts) ←
        if nextIn (afterDash indented) ts then some (missing, ts)
        else read? handles .block fuel ts
      let (items, ts) ← dashes? handles indented fuel ts
      return (item :: items, ts)
  | _, .blockEnd :: ts => some ([], if indented then ts else .blockEnd :: ts)
  | _, ts => if indented then none else some ([], ts)

def blockMembers? (handles : Handles) :
    Nat → List Token → Option (List (Node × Node) × List Token)
  | fuel + 1, .key :: ts => do
      let (k, ts) ←
        if nextIn blockStops ts then some (missing, ts) else read? handles .member fuel ts
      let (v, ts) ← match ts with
        | .value :: ts =>
            if nextIn blockStops ts then some (missing, ts) else read? handles .member fuel ts
        | _ => some (missing, ts)
      let (members, ts) ← blockMembers? handles fuel ts
      return ((k, v) :: members, ts)
  | _, .blockEnd :: ts => some ([], ts)
  | _, _ => none

/-- The items of a bracketed list. Commas stand between them, and one may
follow the last. -/
def items? (handles : Handles) (first : Bool) : Nat → List Token → Option (List Node × List Token)
  | 0, _ => none
  | _, .closeBracket :: ts => some ([], ts)
  | fuel + 1, ts => do
      match ← behindComma? first ts with
      | .closeBracket :: ts => return ([], ts)
      | .key :: ts =>
          let (k, v, ts) ← pair? handles fuel ts
          let (items, ts) ← items? handles false fuel ts
          return (.mapping none [(k, v)] :: items, ts)
      | ts =>
          let (item, ts) ← read? handles .bracketed fuel ts
          let (items, ts) ← items? handles false fuel ts
          return (item :: items, ts)

/-- A single member of a mapping in a bracketed list. A missing key takes
the token behind it with it. -/
def pair? (handles : Handles) : Nat → List Token → Option (Node × Node × List Token)
  | 0, _ => none
  | fuel + 1, ts => do
      let (k, ts) ←
        if nextIn [.value, .comma, .closeBracket] ts then some (missing, ts.tail)
        else read? handles .bracketed fuel ts
      match ts with
      | .value :: ts =>
          if nextIn [.comma, .closeBracket] ts then return (k, missing, ts)
          else
            let (v, ts) ← read? handles .bracketed fuel ts
            return (k, v, ts)
      | _ => return (k, missing, ts)

/-- The members of a bracketed mapping. A key without mark has no value. -/
def members? (handles : Handles) (first : Bool) :
    Nat → List Token → Option (List (Node × Node) × List Token)
  | 0, _ => none
  | _, .closeBrace :: ts => some ([], ts)
  | fuel + 1, ts => do
      match ← behindComma? first ts with
      | .closeBrace :: ts => return ([], ts)
      | .key :: ts =>
          let (k, ts) ←
            if nextIn [.value, .comma, .closeBrace] ts then some (missing, ts)
            else read? handles .bracketed fuel ts
          let (v, ts) ← match ts with
            | .value :: ts =>
                if nextIn [.comma, .closeBrace] ts then some (missing, ts)
                else read? handles .bracketed fuel ts
            | _ => some (missing, ts)
          let (members, ts) ← members? handles false fuel ts
          return ((k, v) :: members, ts)
      | ts =>
          let (k, ts) ← read? handles .bracketed fuel ts
          let (members, ts) ← members? handles false fuel ts
          return ((k, missing) :: members, ts)

end

/-- The directives in front of a document. The version is given once at
most, and so is the meaning of a handle. -/
def directives? : (versioned : Bool) → Handles → List Token → Option (Handles × List Token)
  | versioned, handles, .version major minor :: ts =>
      if versioned || major ≠ 1 || (minor ≠ 1 && minor ≠ 2) then none
      else directives? true handles ts
  | versioned, handles, .handle name stem :: ts =>
      if handles.any (·.1 = name) then none
      else directives? versioned ((name, stem) :: handles) ts
  | _, handles, ts => some (handles ++ Handles.standard, ts)

/-- A node that may be missing altogether. -/
def content? (handles : Handles) (ts : List Token) : Option (Node × List Token) :=
  match ts with
  | [] => some (missing, [])
  | .version _ _ :: _ => some (missing, ts)
  | .handle _ _ :: _ => some (missing, ts)
  | .documentStart :: _ => some (missing, ts)
  | .documentEnd :: _ => some (missing, ts)
  | ts => read? handles .block (2 * ts.length + 2) ts

/-- Reads the tokens of a single document. Without directives the mark in
front of it may be left out. -/
def document? (ts : List Token) : Option Node := do
  let (handles, rest) ← directives? false [] ts
  let (root, rest) ← match rest with
    | .documentStart :: rest => content? handles rest
    | rest =>
        if rest.length < ts.length then none
        else read? handles .block (2 * rest.length + 2) rest
  if rest.all (· = .documentEnd) then some root else none

end Node

end JobLedger.Yaml
