import FiveStage.Json.Value

/-!
# Records in JSON

How a record with named fields and defaults is read from a JSON value. An object gives fields by
name: it may leave fields out and have members that the record does not know, but it must not give a
field twice. An array gives the fields in order: it may be shorter than the record, but not longer.
-/

namespace FiveStage.Json

/-- A field of a record of type `α`. -/
structure RecordField (α : Type) where
  name : String
  /-- The record with the field read from a value. -/
  read : α → Json → Option α

variable {α : Type}

/-- Reads the members of an object; `seen` holds the names of the fields already given. -/
def readMembers (fields : List (RecordField α)) (seen : List String) (record : α) :
    List (Option String × Json) → Option α
  | [] => some record
  | (none, _) :: _ => none
  | (some name, value) :: rest =>
      match fields.find? (·.name == name) with
      | none => readMembers fields seen record rest
      | some field =>
          if seen.contains name then none
          else
            match field.read record value with
            | some record => readMembers fields (name :: seen) record rest
            | none => none

/-- Reads the items of an array. -/
def readItems (record : α) : List (RecordField α) → List Json → Option α
  | _, [] => some record
  | [], _ :: _ => none
  | field :: fields, value :: rest =>
      match field.read record value with
      | some record => readItems record fields rest
      | none => none

/-- Reads a record over its defaults. -/
def readRecord (fields : List (RecordField α)) (defaults : α) : Json → Option α
  | .object members => readMembers fields [] defaults members
  | .array items => readItems defaults fields items
  | _ => none

end FiveStage.Json
