import MetricQuery.Server.Memory

namespace MetricQuery

/-- A resource as a snapshot lists it. -/
structure ResourceEntry where
  name : String
  className : String
  attributes : List Attribute

namespace ResourceEntry

inductive Field where
  | named (text : String)
  | classNamed (text : String)
  | holding (attributes : List Attribute)

def Field.name? : Field → Option String
  | .named text => some text
  | _ => none

def Field.className? : Field → Option String
  | .classNamed text => some text
  | _ => none

def Field.attributes? : Field → Option (List Attribute)
  | .holding attributes => some attributes
  | _ => none

def record : Json.Record Field ResourceEntry where
  title := "struct ResourceSnapshot"
  fields := [("name", .map .named .text), ("className", .map .classNamed .text),
    ("attributes", .map .holding (.list Attribute.record.decoder))]
  build fields :=
    match fields.findSome? Field.name?, fields.findSome? Field.className? with
    | none, _ => .error "name"
    | some _, none => .error "className"
    | some name, some className =>
      .ok ⟨name, className, (fields.findSome? Field.attributes?).getD []⟩

def toJson (entry : ResourceEntry) : Json :=
  .object [("name", .text entry.name), ("className", .text entry.className),
    ("attributes", .array (entry.attributes.map Attribute.toJson))]

end ResourceEntry

/-- The contents of a server as they are kept in a file. -/
structure Snapshot where
  resources : List ResourceEntry

namespace Snapshot

def record : Json.Record (List ResourceEntry) Snapshot where
  title := "struct ServerSnapshot"
  fields := [("resources", .list ResourceEntry.record.decoder)]
  build fields := .ok ⟨fields.head?.getD []⟩

def parse (text : String) : Except Json.Error Snapshot := record.decoder.decode text

def toJson (snapshot : Snapshot) : Json :=
  .object [("resources", .array (snapshot.resources.map ResourceEntry.toJson))]

/-- Registers the entries one by one; the first bad name ends it. -/
def registerAll (server : MemoryServer) : List ResourceEntry → Except NameError MemoryServer
  | [] => .ok server
  | entry :: rest => do
    let (next, _) ← server.register entry.name entry.className entry.attributes
    registerAll next rest

def load (snapshot : Snapshot) : Except NameError MemoryServer :=
  registerAll {} snapshot.resources

end Snapshot

end MetricQuery
