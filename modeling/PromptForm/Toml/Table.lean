import PromptForm.Value.Basic

/-!
# Tables of configuration files

A TOML file is a list of statements: headers, which open a table or a row of tables, and entries, which
put a value under a key of the open table. A key may lead through further tables. Each table is defined
once: by its header, by dotted keys, or, when it only lies on the way to another one, by nobody yet.
-/

namespace PromptForm.Toml

/-- Where a table comes from. -/
inductive Origin where
  | header
  /-- Named only on the way to another table; its own header may still come. -/
  | implied
  /-- Made by dotted keys; more of them may add to it. -/
  | dotted
deriving DecidableEq, Repr

/-- What a key leads to. Strings, lists and inline tables are values and stay as they are. -/
inductive Entry where
  | value (v : Value)
  | table (origin : Origin) (entries : List (String × Entry))
  /-- Tables under one header written several times; the last one is open. -/
  | rows (closed : List (List (String × Entry))) (last : List (String × Entry))

/-- The entries of a table in key order. -/
abbrev Entries := List (String × Entry)

/-- A key: the names of the tables on the way, and its own name. -/
structure Key where
  path : List String
  name : String
deriving DecidableEq, Repr

inductive Statement where
  | header (key : Key)
  | row (key : Key)
  | entry (key : Key) (value : Value)
deriving DecidableEq

namespace Entries

/-- Puts a value under a name that is still free. -/
def put? (name : String) (v : Value) (t : Entries) : Option Entries :=
  if Fields.has name t then none else some (Fields.insert name (.value v) t)

/-- Puts a value under a key. The tables on its way are new or may grow by dotted keys: not those of
    headers; and the innermost one must come from dotted keys. -/
def putUnder? (name : String) (v : Value) : List String → Entries → Option Entries
  | [], t => put? name v t
  | key :: path, t =>
    match Fields.get? key t with
    | none => (putUnder? name v path []).map fun sub => Fields.insert key (.table .dotted sub) t
    | some (.table .dotted sub) =>
      (putUnder? name v path sub).map fun sub => Fields.insert key (.table .dotted sub) t
    | some (.table .implied sub) =>
      if path.isEmpty then none
      else (putUnder? name v path sub).map fun sub => Fields.insert key (.table .implied sub) t
    | some (.rows closed last) =>
      if path.isEmpty then none
      else (putUnder? name v path last).map fun last => Fields.insert key (.rows closed last) t
    | some (.table .header _) | some (.value _) => none

/-- Changes the table at the end of a path of headers. Missing tables on the way are implied; of rows
    the last one counts. -/
def within? (change : Entries → Option Entries) : List String → Entries → Option Entries
  | [], t => change t
  | key :: path, t =>
    match Fields.get? key t with
    | none => (within? change path []).map fun sub => Fields.insert key (.table .implied sub) t
    | some (.table origin sub) =>
      (within? change path sub).map fun sub => Fields.insert key (.table origin sub) t
    | some (.rows closed last) =>
      (within? change path last).map fun last => Fields.insert key (.rows closed last) t
    | some (.value _) => none

/-- Opens a table by its header: it is new, or only implied so far. -/
def openTable? (name : String) (t : Entries) : Option Entries :=
  match Fields.get? name t with
  | none => some (Fields.insert name (.table .header []) t)
  | some (.table .implied sub) => some (Fields.insert name (.table .header sub) t)
  | _ => none

/-- Opens a new row. -/
def openRow? (name : String) (t : Entries) : Option Entries :=
  match Fields.get? name t with
  | none => some (Fields.insert name (.rows [] []) t)
  | some (.rows closed last) => some (Fields.insert name (.rows (closed ++ [last]) []) t)
  | _ => none

end Entries

mutual
/-- The value of an entry. -/
def Entry.toValue : Entry → Value
  | .value v => v
  | .table _ entries => .object (Entry.fieldsOf entries)
  | .rows closed last => .list (Entry.objectsOf closed ++ [.object (Entry.fieldsOf last)])
termination_by structural e => e
def Entry.fieldsOf : List (String × Entry) → List (String × Value)
  | [] => []
  | (k, e) :: rest => (k, Entry.toValue e) :: Entry.fieldsOf rest
termination_by structural es => es
def Entry.objectsOf : List (List (String × Entry)) → List Value
  | [] => []
  | t :: rest => .object (Entry.fieldsOf t) :: Entry.objectsOf rest
termination_by structural ts => ts
end

/-- A file read so far: all tables, and the path of the open one. -/
structure Document where
  root : Entries := []
  current : List String := []

/-- The document after one more statement. -/
def Document.apply? (d : Document) : Statement → Option Document
  | .header key => do
    let root ← Entries.within? (Entries.openTable? key.name) key.path d.root
    some ⟨root, key.path ++ [key.name]⟩
  | .row key => do
    let root ← Entries.within? (Entries.openRow? key.name) key.path d.root
    some ⟨root, key.path ++ [key.name]⟩
  | .entry key v => do
    let root ← Entries.within? (Entries.putUnder? key.name v key.path) d.current d.root
    some { d with root }

/-- The document of some statements. -/
def Document.ofStatements? (statements : List Statement) : Option Document :=
  statements.foldlM Document.apply? {}

def Document.toValue (d : Document) : Value := .object (Entry.fieldsOf d.root)

end PromptForm.Toml
