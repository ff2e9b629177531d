/-!
# Records in data formats

A record is written in one of two forms: with the names of its fields, in any order and possibly
with further names that mean nothing, or as the list of its fields in the order in which they are
declared. `Record ν` holds the fields that were found, as nodes `ν` of the format.
-/

namespace ToolGateway

/-- The fields of a record that were found. -/
structure Record (ν : Type) where
  /-- Whether the fields were given by name. -/
  named : Bool
  /-- The fields. -/
  fields : List (String × ν)

namespace Record

variable {ν α : Type}

/-- The record of named members, none of whose declared names may occur twice. -/
def ofMembers? (names : List String) (members : List (String × ν)) : Option (Record ν) :=
  if names.all fun name => members.countP (·.1 == name) ≤ 1 then
    some ⟨true, members.filter fun m => names.contains m.1⟩
  else none

/-- The record of a list of fields in declared order; those beyond the last name mean nothing. -/
def ofItems (names : List String) (items : List ν) : Record ν := ⟨false, names.zip items⟩

/-- The field of a name. -/
def find? (r : Record ν) (name : String) : Option ν :=
  (r.fields.find? (·.1 == name)).map Prod.snd

/-- A field that must be there. -/
def required (r : Record ν) (name : String) (read : ν → Option α) : Option α :=
  (r.find? name).bind read

/-- A field with a value for its absence. -/
def withDefault (r : Record ν) (name : String) (absent : α) (read : ν → Option α) : Option α :=
  match r.find? name with
  | none => some absent
  | some node => read node

/-- A field that may be left out by name, but not from the end of a list. -/
def optional (r : Record ν) (name : String) (read : ν → Option (Option α)) : Option (Option α) :=
  match r.find? name with
  | none => if r.named then some none else none
  | some node => read node

end Record

end ToolGateway
