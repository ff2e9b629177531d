import ToolGateway.Toml.Basic

/-!
# Tables under construction

A table is built from pairs of a key and a value and from sections with headers of their own. A
draft remembers how each table came about, because that decides who may still add to it: a section
may fill a table that was only implied by a longer header, and a dotted key may add to a table made
by dotted keys. What stands in a value is closed. Nothing is ever bound twice.
-/

namespace ToolGateway.Toml

/-- How a table of a draft came about. -/
inductive Standing where
  /-- A header names it. -/
  | headed
  /-- A longer header implies it. -/
  | implied
  /-- A dotted key makes it. -/
  | dotted
  deriving DecidableEq, Repr

/-- A value under construction. -/
inductive Draft where
  /-- A value that is complete. -/
  | closed (value : Toml)
  | table (standing : Standing) (members : List (String × Draft))
  /-- The tables of a list of sections (the last one first). -/
  | tables (elements : List (List (String × Draft)))
  deriving Repr, Inhabited

/-- The members of a table under construction. -/
abbrev Members := List (String × Draft)

/-- The draft bound to a name. -/
def Members.get? (members : Members) (name : String) : Option Draft := List.lookup name members

/-- Binds a name, which is not bound yet or whose draft is replaced. -/
def Members.set (members : Members) (name : String) (draft : Draft) : Members :=
  match members with
  | [] => [(name, draft)]
  | (other, d) :: rest =>
    if other = name then (name, draft) :: rest else (other, d) :: Members.set rest name draft

/-- Changes the table at the end of a path; `change` is told how that table came about. Tables
that are missing on the way are made with the standing `fresh`. Dotted keys do not enter a table
that a header names, but they do enter the last table of a list of sections. -/
def Members.edit (fresh : Standing) (change : Standing → Members → Option Members) :
    (path : List String) → (standing : Standing) → Members → Option Members
  | [], standing, members => change standing members
  | name :: path, _, members =>
    match members.get? name with
    | none => (edit fresh change path fresh []).map fun inner => members.set name (.table fresh inner)
    | some (.closed _) => none
    | some (.table standing inner) =>
      if fresh = .dotted ∧ standing = .headed then none
      else (edit fresh change path standing inner).map fun inner =>
        members.set name (.table standing inner)
    | some (.tables []) => none
    | some (.tables (element :: earlier)) =>
      (edit fresh change path .headed element).map fun element =>
        members.set name (.tables (element :: earlier))

/-- Binds a key to a value. A dotted key ends in a table made by dotted keys. -/
def Members.put (members : Members) (key : Key) (value : Toml) : Option Members :=
  let change (standing : Standing) (inner : Members) : Option Members :=
    if (standing = .dotted ↔ key.path ≠ []) ∧ (inner.get? key.last).isNone then
      some (inner.set key.last (.closed value))
    else none
  members.edit .dotted change key.path .headed

/-- Binds keys to values one after the other. -/
def Members.putAll (members : Members) (pairs : List (Key × Toml)) : Option Members :=
  pairs.foldlM (fun members pair => members.put pair.1 pair.2) members

/-- A section of a file: a header, which may add to a list of sections, and its pairs. -/
structure Section where
  key : Key
  listed : Bool
  pairs : List (Key × Toml)

/-- Adds a section. -/
def Members.addSection (members : Members) (s : Section) : Option Members :=
  let fill (_ : Standing) (inner : Members) : Option Members :=
    match s.listed, inner.get? s.key.last with
    | false, none =>
      (Members.putAll [] s.pairs).map fun filled => inner.set s.key.last (.table .headed filled)
    | false, some (.table .implied known) =>
      (Members.putAll known s.pairs).map fun filled => inner.set s.key.last (.table .headed filled)
    | true, none =>
      (Members.putAll [] s.pairs).map fun filled => inner.set s.key.last (.tables [filled])
    | true, some (.tables earlier) =>
      (Members.putAll [] s.pairs).map fun filled => inner.set s.key.last (.tables (filled :: earlier))
    | _, some _ => none
  members.edit .implied fill s.key.path .headed

mutual

/-- The value of a draft. -/
def Draft.finish : Draft → Toml
  | .closed value => value
  | .table _ members => .table (finishMembers members)
  | .tables elements => .array (finishElements [] elements)

/-- The values of the members of a table. -/
def finishMembers : List (String × Draft) → List (String × Toml)
  | [] => []
  | (name, draft) :: rest => (name, draft.finish) :: finishMembers rest

/-- The tables of a list of sections, before those finished so far. -/
def finishElements (done : List Toml) : List (List (String × Draft)) → List Toml
  | [] => done
  | members :: rest => finishElements (.table (finishMembers members) :: done) rest

end

/-- The table of the pairs of a value in braces. -/
def ofPairs? (pairs : List (Key × Toml)) : Option Toml :=
  (Members.putAll [] pairs).map fun members => .table (finishMembers members)

/-- The table of the pairs at the head of a file and of its sections. -/
def ofSections? (pairs : List (Key × Toml)) (sections : List Section) : Option Toml := do
  let head ← Members.putAll [] pairs
  let members ← sections.foldlM Members.addSection head
  return .table (finishMembers members)

end ToolGateway.Toml
