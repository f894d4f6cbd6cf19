import RecordRules.Settings.Setting

/-!
# Tables in TOML

The tables of a text inside each other.  How a table came to be decides what may still
be added to it: a table with a header of its own takes single keys, one that came with a
key of several parts takes further keys of that kind, and a table can have one header
only.  A value can be neither replaced nor added to.
-/

namespace RecordRules.Toml

/-- How a table came to be. -/
inductive Origin where
  /-- By a header of its own. -/
  | header
  /-- By the header of a table inside it. -/
  | above
  /-- By a key of several parts. -/
  | dotted
deriving DecidableEq, Repr

/-- What stands under a key of a table. -/
inductive Node where
  /-- A value, among them a list or an inline table. -/
  | value (setting : Setting)
  | table (origin : Origin) (members : List (String × Node))
  /-- Tables with one header each, of which the newest can be added to. -/
  | series (newest : List (String × Node))

/-- The keys of a table with what stands under them. -/
abbrev Members := List (String × Node)

namespace Members

def node? (members : Members) (key : String) : Option Node :=
  (members.find? (·.1 == key)).map (·.2)

/-- The members with a node under a key, in place of the one that is there. -/
def put (key : String) (node : Node) : Members → Members
  | [] => [(key, node)]
  | (other, held) :: rest =>
      if other == key then (key, node) :: rest else (other, held) :: put key node rest

/-- The members after a change of the table at a path, which is given its origin. -/
def changeAt (made : Origin) (enters : Origin → Bool)
    (change : Origin → Members → Option Members) :
    (origin : Origin) → (path : List String) → Members → Option Members
  | origin, [], members => change origin members
  | _, key :: path, members =>
      match members.node? key with
      -- Tables that are missing on the way are made; those that are there may be closed.
      | none =>
          (changeAt made enters change made path []).map fun inner =>
            members.put key (.table made inner)
      | some (.table origin inner) =>
          if enters origin then
            (changeAt made enters change origin path inner).map fun inner =>
              members.put key (.table origin inner)
          else none
      -- Only the newest table of a series can be added to.
      | some (.series newest) =>
          (changeAt made enters change .header path newest).map fun newest =>
            members.put key (.series newest)
      | some (.value _) => none

def changeUnder (path : List String) (change : Members → Option Members) :
    Members → Option Members :=
  changeAt .above (fun _ => true) (fun _ => change) .header path

def add? (path : List String) (setting : Setting) (members : Members) : Option Members :=
  match path.getLast? with
  | none => none
  | some key =>
      let way := path.dropLast
      let change (origin : Origin) (members : Members) : Option Members :=
        if (origin == .dotted) == way.isEmpty || (members.node? key).isSome then none
        else some (members.put key (.value setting))
      changeAt .dotted (· != .header) change .header way members

def openTable? (path : List String) (members : Members) : Option Members :=
  match path.getLast? with
  | none => none
  | some key =>
      members |> changeUnder path.dropLast fun members =>
        match members.node? key with
        | none => some (members.put key (.table .header []))
        | some (.table .above inner) => some (members.put key (.table .header inner))
        | _ => none

def openSeries? (path : List String) (members : Members) : Option Members :=
  match path.getLast? with
  | none => none
  | some key =>
      members |> changeUnder path.dropLast fun members =>
        match members.node? key with
        | none | some (.series _) => some (members.put key (.series []))
        | _ => none

end Members

def tableSetting (members : Members) : Setting :=
  if members.isEmpty then .emptyTable else .composite

def Node.setting : Node → Setting
  | .value setting => setting
  | .table _ members => tableSetting members
  | .series _ => .composite

end RecordRules.Toml
