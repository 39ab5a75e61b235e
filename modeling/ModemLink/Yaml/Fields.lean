/-
Module: ModemLink.Yaml.Fields
Purpose: Records with named fields in a YAML text.
Main exports: Fields, Fields.ofNode?, Fields.get, Fields.require, Fields.optional
-/
import ModemLink.RequestKind.Table
import ModemLink.Yaml.Resolve

namespace ModemLink.Yaml

/-- The fields of a record, each at most once. -/
structure Fields where
  entries : List (String × Node)

namespace Fields

/-- The fields of a record all of which have known names. -/
def ofNode? (known : List String) (node : Node) : Option Fields := do
  let entries ← (← node.entries?).mapM fun (key, value) => key.text?.map (·, value)
  let names := entries.map Prod.fst
  if names.all known.contains ∧ names.Nodup then some ⟨entries⟩ else none

section

variable {α : Type}

/-- The value of a field that may be left out. -/
def get (fields : Fields) (name : String) (read : Node → Option α) (default : α) : Option α :=
  match fields.entries.lookup name with
  | some node => read node
  | none => some default

/-- The value of a field that has to be there. -/
def require (fields : Fields) (name : String) (read : Node → Option α) : Option α :=
  fields.entries.lookup name >>= read

/-- The value of a field that may be left out or hold nothing. -/
def optional (fields : Fields) (name : String) (read : Node → Option α) : Option (Option α) :=
  fields.get name (fun node => node.optional >>= fun value => value.mapM read) none

end

end Fields

/-- The items of a list. -/
def readList? {α : Type} (read : Node → Option α) (node : Node) : Option (List α) :=
  node.items? >>= List.mapM read

/-- A record with kinds of request as its keys.  Of several entries for a kind the last one counts. -/
def readTable? {α : Type} (read : Node → Option α) (node : Node) :
    Option (RequestKind.Table (Option α)) := do
  let entries ← (← node.entries?).mapM fun (key, value) => do
    some (← readKind? key, ← read value)
  some (entries.foldl (fun table entry => table.set entry.1 (some entry.2)) (.const none))

end ModemLink.Yaml
