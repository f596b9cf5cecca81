import SymbolAtlas.Settings.Value

/-!
# Building a TOML document

Keys arrive one by one, and the tables on their way come into being as they are needed. Two marks
remember how a table came about: `implicit` for one that no header has defined yet, `dotted` for
one that dotted keys have made. They decide which later lines may still add to it: a header defines
a table once, and dotted keys do not reach into a table that a header has defined.
-/

namespace SymbolAtlas.Toml

open Settings (Value)

mutual

/-- What stands at a key. -/
inductive Node where
  | value (v : Value)
  | table (t : Table)
  /-- A list of tables, each from a header of its own. -/
  | tables (ts : List Table)

/-- A table under construction. -/
inductive Table where
  | mk (implicit dotted : Bool) (entries : List (String × Node))

end

namespace Table

/-- The empty table that a header defines. -/
def defined : Table := .mk false false []

/-- No header has defined the table yet. -/
def isImplicit : Table → Bool
  | .mk implicit _ _ => implicit

/-- Dotted keys have made the table. -/
def isDotted : Table → Bool
  | .mk _ dotted _ => dotted

/-- The entries of the table. -/
def entries : Table → List (String × Node)
  | .mk _ _ es => es

/-- What stands at a key of the table. -/
def node? (t : Table) (key : String) : Option Node :=
  (t.entries.find? fun e => e.1 == key).map (·.2)

/-- Puts a node at a key of a listing. -/
def putNode (key : String) (node : Node) : List (String × Node) → List (String × Node)
  | [] => [(key, node)]
  | (k, n) :: rest => if k = key then (k, node) :: rest else (k, n) :: putNode key node rest

/-- The table with a node at a key. -/
def put (t : Table) (key : String) (node : Node) : Table :=
  match t with
  | .mk implicit dotted es => .mk implicit dotted (putNode key node es)

/-- Changes the last of a list of tables. -/
def changeLast (change : Table → Option Table) : List Table → Option (List Table)
  | [] => none
  | [t] => (change t).map ([·])
  | t :: ts => (changeLast change ts).map (t :: ·)

/-- Changes the table at the end of a path; tables that are missing on the way are made. With
`dotted`, the path comes from a dotted key, which may not enter a defined table. -/
def descend (dotted : Bool) (change : Table → Option Table) : List String → Table → Option Table
  | [], t => change t
  | key :: path, t =>
    match t.node? key with
    | none => (descend dotted change path (.mk true dotted [])).map fun c => t.put key (.table c)
    | some (.value _) => none
    | some (.tables ts) =>
      (changeLast (descend dotted change path) ts).map fun ts => t.put key (.tables ts)
    | some (.table c) =>
      if dotted && !c.isImplicit then none
      else (descend dotted change path c).map fun c => t.put key (.table c)

/-- Adds a value at a dotted key, given as the path to its table and its name there. -/
def add (path : List String) (name : String) (value : Value) (t : Table) : Option Table :=
  t |> descend true (fun c =>
    if c.isDotted == path.isEmpty || (c.node? name).isSome then none
    else some (c.put name (.value value))) path

/-- Defines the table of a header. -/
def define (path : List String) (name : String) (t : Table) : Option Table :=
  t |> descend false (fun parent =>
    match parent.node? name with
    | none => some (parent.put name (.table defined))
    | some (.table c) =>
      if c.isImplicit && !c.isDotted then
        some (parent.put name (.table (.mk false false c.entries)))
      else none
    | some _ => none) path

/-- Starts one more table in the list of a header. -/
def append (path : List String) (name : String) (t : Table) : Option Table :=
  t |> descend false (fun parent =>
    match parent.node? name with
    | none => some (parent.put name (.tables [defined]))
    | some (.tables ts) => some (parent.put name (.tables (ts ++ [defined])))
    | some _ => none) path

/-- Changes the table that the last header has started. -/
def within (path : List String) (change : Table → Option Table) (t : Table) : Option Table :=
  descend false change path t

end Table

mutual

/-- The value of a node. -/
def Node.toValue : Node → Value
  | .value v => v
  | .table t => t.toValue
  | .tables ts => .arr (tableValues ts)

/-- The value of a table. -/
def Table.toValue : Table → Value
  | .mk _ _ es => .table (entryValues es)

/-- The values of a list of tables. -/
def tableValues : List Table → List Value
  | [] => []
  | t :: ts => t.toValue :: tableValues ts

/-- The values of entries. -/
def entryValues : List (String × Node) → List (String × Value)
  | [] => []
  | (key, node) :: rest => (key, node.toValue) :: entryValues rest

end

end SymbolAtlas.Toml
